import SprayWatch.Program
import SprayWatch.Proofs.JobAborts
import SprayWatch.Proofs.Requests

/-!
# What is removed

A directory is removed only when it was sprayed, the user asked for its removal, and the job has
told its success: the submission and every status query have exited with success, and the last query
has told that the job is finished or monitoring.  A removal that fails does not change the report.
Whatever else happens, the site is left as the commands and the passing of time leave it.
-/

namespace SprayWatch

namespace Transcript

theorem removals_eq_nil {t : Transcript} (hnone : ∀ entry ∈ t, ∀ dir, entry ≠ .removal dir) :
    t.removals = [] := by
  refine List.filterMap_eq_nil_iff.mpr fun entry hmem => ?_
  cases entry with
  | removal dir => exact absurd rfl (hnone _ hmem dir)
  | _ => rfl

end Transcript

namespace Monitor

variable {σ : Type}

/-! ## Jobs that have told their success -/

/-- Status query number `n` of a run takes place and tells that the job has succeeded, after a
submission and queries that have all exited with success. -/
structure Succeeds (m : Monitor σ) (jobId : String) (c : Command) (s : Station σ) (n : Nat) :
    Prop extends m.Reaches jobId c s n where
  answered :
    ∀ k ≤ n, (m.statusExchanges jobId c s k).answer.ending = some (.exited .finished)
  told :
    ∃ state ∈ [Job.State.finished, .monitoring],
      (m.statusExchanges jobId c s n).answer.state? jobId = some state

section Succeeding

variable {m : Monitor σ} {c : Command} {s : Station σ}

theorem Succeeds.submit {jobId : String} {n : Nat} (hsucceeds : m.Succeeds jobId c s n) :
    (m.submit c s).value = .completed .success ∧
      (m.submit c s).did.commands = c :: List.replicate (n + 1) (m.base.status jobId) := by
  have hbrought : (m.statusExchanges jobId c s n).result? jobId = some (.ok .success) :=
    Exchange.result?_eq_ok.mpr ⟨hsucceeds.answered n le_rfl,
      Course.status_eq_success.mpr hsucceeds.told, rfl⟩
  obtain ⟨hvalue, hdeeds⟩ :=
    hsucceeds.toFollows.submit_of_closesBy hsucceeds.accepting
      (.brought hsucceeds.reached hbrought)
  refine ⟨hvalue, ?_⟩
  rw [hvalue] at hdeeds
  rw [← Transcript.commands_deeds, hdeeds, Transcript.commands_ran,
    Transcript.commands_append, commands_deedsBy]
  simp [Outcome.isGivenUp, concluded, handed, Transcript.commands]

theorem exists_succeeds (hcompleted : (m.submit c s).value = .completed .success) :
    ∃ jobId n, m.Succeeds jobId c s n := by
  by_cases hfollows : ∃ jobId, m.Follows jobId c s
  · obtain ⟨jobId, hfollows⟩ := hfollows
    cases haccepting : s.accepting with
    | false =>
        obtain ⟨hvalue, -⟩ := hfollows.submit_of_not_accepting haccepting
        simp [hvalue] at hcompleted
    | true =>
        obtain ⟨n, result, hcloses, hvalue, -⟩ := hfollows.submit_of_accepting haccepting
        obtain ⟨rfl, -⟩ :=
          concluded_handed_eq_completed.mp (hvalue.symm.trans hcompleted)
        cases hcloses with
        | brought hreached hresult =>
            obtain ⟨hended, hstatus, -⟩ := Exchange.result?_eq_ok.mp hresult
            refine ⟨jobId, n, ⟨hfollows, haccepting, hreached⟩, fun k hk => ?_,
              Course.status_eq_success.mp hstatus⟩
            rcases Nat.lt_or_eq_of_le hk with hlt | rfl
            · exact (Exchange.result?_eq_none.mp (hreached k hlt).1).1.exited
            · exact hended
  · obtain ⟨hvalue, -⟩ := submit_of_not_follows (not_exists.mp hfollows)
    exact absurd (hvalue.symm.trans hcompleted) (unfollowed_ne_completed _ _)

end Succeeding

/-! ## What a monitor leaves as it was -/

/-- Something about the states of a site that neither commands nor pauses change. -/
structure Untouched {ν : Type} (site : Site σ) (view : σ → ν) : Prop where
  run : ∀ c watch x, view (site.run c watch x).2 = view x
  pause : ∀ ms watch x, view (site.pause ms watch x).2 = view x

theorem Untouched.keeps {ν : Type} {view : σ → ν} {m : Monitor σ}
    (huntouched : Untouched m.site view) (seen : ν) :
    m.Keeps (fun s => view s.site = seen) fun entry => ∀ dir, entry ≠ .removal dir where
  current _ hs := hs
  stopped hs := hs
  draws _ hs := hs
  ticks _ hs := hs
  ran c watch hs := (huntouched.run c watch _).trans hs
  paused ms watch hs := (huntouched.pause ms watch _).trans hs
  logged _ _ := nofun
  waited _ _ := nofun
  status _ _ := nofun
  abort _ _ := nofun
  list _ _ := nofun

theorem keeps_no_removals (m : Monitor σ) :
    m.Keeps (fun _ => () = ()) fun entry => ∀ dir, entry ≠ .removal dir := by
  have huntouched : Untouched m.site fun _ => () := ⟨fun _ _ _ => rfl, fun _ _ _ => rfl⟩
  exact huntouched.keeps ()

end Monitor

theorem Outcome.isSuccess_iff {o : Outcome} : o.isSuccess = true ↔ o = .completed .success :=
  beq_iff_eq

theorem Operation.toRemove?_eq_some {op : Operation} {dir : Path} :
    op.toRemove? = some dir ↔
      ∃ name cluster overwrite fileNames,
        op = .sprayDirectory dir name cluster overwrite fileNames true := by
  constructor
  · intro hremove
    cases op with
    | sprayDirectory other name cluster overwrite fileNames deleteSource =>
        cases deleteSource with
        | true =>
            obtain rfl := Option.some.inj hremove
            exact ⟨name, cluster, overwrite, fileNames, rfl⟩
        | false => simp [toRemove?] at hremove
    | _ => simp [toRemove?] at hremove
  · rintro ⟨name, cluster, overwrite, fileNames, rfl⟩
    rfl

namespace Executor

variable {σ : Type}

/-- An execution leaves the site as it was, but for the removal of some directories. -/
structure LeavesBut {ν : Type} (e : Executor σ) (view : σ → ν) (before after : σ)
    (removed : List Path) : Prop where
  untouched : removed = [] → view after = view before
  removal :
    ∀ dir, removed = [dir] →
      ∃ x, view x = view before ∧ view after = view (e.monitor.site.remove dir x).2

section Carrying

variable (e : Executor σ) (op : Operation) (p : Plan) (s : Station σ)

/-- The directories that are removed when a plan is carried out. -/
def removed : List Path :=
  if p.execution = .monitored ∧ (e.monitor.submit p.command s).value = .completed .success then
    op.toRemove?.toList
  else []

theorem submit_removals (c : Command) : (e.monitor.submit c s).did.removals = [] :=
  Transcript.removals_eq_nil (e.monitor.keeps_no_removals.submit (fun _ => nofun) rfl).2

theorem waitForFile_removals (mask : String) :
    (e.monitor.waitForFile mask s).did.removals = [] :=
  Transcript.removals_eq_nil (e.monitor.keeps_no_removals.waitForFile mask rfl).2

theorem carryOut_removals : (e.carryOut op p s).did.removals = e.removed op p s := by
  obtain ⟨c, execution⟩ := p
  unfold removed
  cases execution with
  | fileWait mask =>
      simp only [carryOut, Act.bind_apply, Act.pure_apply, List.append_nil, reduceCtorEq,
        false_and, if_false]
      exact e.waitForFile_removals s mask
  | once q =>
      simp only [carryOut, reduceCtorEq, false_and, if_false]
      rw [← Transcript.removals_deeds, e.runOnce_deeds op s c q]
      rfl
  | monitored =>
      simp only [carryOut, Act.bind_apply, Act.pure_apply, List.append_nil, true_and]
      cases hsuccess : (e.monitor.submit c s).value.isSuccess with
      | false =>
          rw [e.runMonitored_of_failure op s c hsuccess, e.submit_removals s c, if_neg]
          rw [← Outcome.isSuccess_iff, hsuccess]
          exact Bool.false_ne_true
      | true =>
          obtain ⟨did, happly, hdeeds⟩ := e.runMonitored_of_success op s c hsuccess
          rw [happly, if_pos (Outcome.isSuccess_iff.mp hsuccess), Transcript.removals_append,
            e.submit_removals s c, ← Transcript.removals_deeds did, hdeeds]
          cases op.toRemove? <;> rfl

theorem runMonitored_commands (c : Command) :
    (e.runMonitored op c s).did.commands = (e.monitor.submit c s).did.commands := by
  cases hsuccess : (e.monitor.submit c s).value.isSuccess with
  | false => rw [e.runMonitored_of_failure op s c hsuccess]
  | true =>
      obtain ⟨did, happly, hdeeds⟩ := e.runMonitored_of_success op s c hsuccess
      rw [happly, Transcript.commands_append, ← Transcript.commands_deeds did, hdeeds]
      cases op.toRemove? with
      | none => exact List.append_nil _
      | some dir => exact List.append_nil _

theorem carryOut_value_of_removed (hremoved : e.removed op p s ≠ []) :
    (e.carryOut op p s).value = .ok (.monitored (.completed .success)) := by
  unfold removed at hremoved
  split at hremoved
  next hdone =>
    obtain ⟨hmonitored, hcompleted⟩ := hdone
    obtain ⟨did, happly, -⟩ :=
      e.runMonitored_of_success op s p.command (Outcome.isSuccess_iff.mpr hcompleted)
    simp [carryOut, hmonitored, happly, hcompleted]
  next => exact absurd rfl hremoved

theorem carryOut_leavesBut {ν : Type} {view : σ → ν}
    (huntouched : Monitor.Untouched e.monitor.site view) :
    e.LeavesBut view s.site (e.carryOut op p s).station.site (e.removed op p s) := by
  have hkeeps := huntouched.keeps (view s.site)
  obtain ⟨c, execution⟩ := p
  have hsubmit : view (e.monitor.submit c s).station.site = view s.site :=
    (hkeeps.submit (fun _ => nofun) rfl).1
  unfold removed
  cases execution with
  | fileWait mask =>
      simp only [carryOut, Act.bind_apply, Act.pure_apply, reduceCtorEq, false_and, if_false]
      exact ⟨fun _ => (hkeeps.waitForFile mask rfl).1, by simp⟩
  | once q =>
      simp only [carryOut, reduceCtorEq, false_and, if_false]
      refine ⟨fun _ => ?_, by simp⟩
      rw [e.runOnce_station op s c q, Station.after_site]
      exact huntouched.run c _ s.site
  | monitored =>
      simp only [carryOut, Act.bind_apply, Act.pure_apply, true_and]
      cases hsuccess : (e.monitor.submit c s).value.isSuccess with
      | false =>
          rw [e.runMonitored_of_failure op s c hsuccess, if_neg]
          · exact ⟨fun _ => hsubmit, by simp⟩
          · rw [← Outcome.isSuccess_iff, hsuccess]
            exact Bool.false_ne_true
      | true =>
          obtain ⟨did, happly, -⟩ := e.runMonitored_of_success op s c hsuccess
          rw [happly, if_pos (Outcome.isSuccess_iff.mp hsuccess)]
          unfold cleared
          cases op.toRemove? with
          | none => exact ⟨fun _ => hsubmit, by simp⟩
          | some dir =>
              refine ⟨by simp, fun other hother => ?_⟩
              obtain rfl : dir = other := by simpa using hother
              exact ⟨(e.monitor.submit c s).station.site, hsubmit, rfl⟩

end Carrying

/-! ## The removals of an operation -/

section Executing

variable {e : Executor σ} {op : Operation} {s : Station σ} {dir : Path}

/-- A directory is removed for an operation only if the operation asks for it and its job, which is
the one that the operation submits at any host, is monitored to its success. -/
theorem mem_removed {address : String} :
    dir ∈ e.removed op (op.plan e.monitor.base address) s ↔
      ∃ name cluster overwrite fileNames,
        op = .sprayDirectory dir name cluster overwrite fileNames true ∧
        (e.monitor.submit (op.plan e.monitor.base fallbackAddress).command s).value =
          .completed .success := by
  unfold removed
  constructor
  · intro hmem
    split at hmem
    next hdone =>
      obtain ⟨name, cluster, overwrite, fileNames, rfl⟩ :=
        Operation.toRemove?_eq_some.mp (Option.mem_toList.mp hmem)
      exact ⟨name, cluster, overwrite, fileNames, rfl, hdone.2⟩
    next => simp at hmem
  · rintro ⟨name, cluster, overwrite, fileNames, rfl, hcompleted⟩
    rw [if_pos ⟨rfl, hcompleted⟩]
    exact Option.mem_toList.mpr rfl

theorem removed_eq_singleton {p : Plan} (hmem : dir ∈ e.removed op p s) :
    e.removed op p s = [dir] := by
  unfold removed at *
  split at hmem
  next hdone =>
    rw [if_pos hdone, Option.mem_toList.mp hmem]
    rfl
  next => simp at hmem

variable (e op s)

theorem execute_sprayDirectory_commands {name cluster : String} {overwrite deleteSource : Bool}
    {fileNames : Option String} (haccepting : s.accepting = true)
    (hop : op = .sprayDirectory dir name cluster overwrite fileNames deleteSource) :
    (e.execute op s).did.commands =
      (e.monitor.submit (op.plan e.monitor.base fallbackAddress).command s).did.commands := by
  subst hop
  obtain ⟨address, did, happly, hdeeds⟩ := e.execute_of_accepting _ s haccepting
  rw [happly, Transcript.commands_append, ← Transcript.commands_deeds did, hdeeds]
  simp only [carryOut, Operation.plan, Act.bind_apply, Act.pure_apply, List.append_nil,
    runMonitored_commands]
  rfl

/-- What is removed, the report if something is, and the site otherwise. -/
theorem execute_removes :
    ∃ address,
      (e.execute op s).did.removals =
        (if s.accepting then e.removed op (op.plan e.monitor.base address) s else []) ∧
      ((e.execute op s).did.removals ≠ [] →
        (e.execute op s).value = .ok (.monitored (.completed .success))) ∧
      ∀ {ν : Type} (view : σ → ν), Monitor.Untouched e.monitor.site view →
        e.LeavesBut view s.site (e.execute op s).station.site (e.execute op s).did.removals := by
  cases haccepting : s.accepting with
  | false =>
      rw [e.execute_of_not_accepting op s haccepting]
      exact ⟨fallbackAddress, rfl, fun h => absurd rfl h, fun view _ =>
        ⟨fun _ => rfl, fun _ => nofun⟩⟩
  | true =>
      obtain ⟨address, did, happly, hdeeds⟩ := e.execute_of_accepting op s haccepting
      have hremovals : (e.execute op s).did.removals =
          e.removed op (op.plan e.monitor.base address) s := by
        rw [happly, Transcript.removals_append, ← Transcript.removals_deeds did, hdeeds,
          e.carryOut_removals]
        rfl
      refine ⟨address, hremovals, fun hremoved => ?_, fun view huntouched => ?_⟩
      · rw [happly]
        exact e.carryOut_value_of_removed op _ s (hremovals ▸ hremoved)
      · rw [hremovals, happly]
        exact e.carryOut_leavesBut op _ s huntouched

theorem mem_execute_removals :
    dir ∈ (e.execute op s).did.removals ↔
      ∃ name cluster overwrite fileNames jobId n,
        op = .sprayDirectory dir name cluster overwrite fileNames true ∧
        e.monitor.Succeeds jobId (op.plan e.monitor.base fallbackAddress).command s n ∧
        (e.execute op s).did.commands =
          (op.plan e.monitor.base fallbackAddress).command ::
            List.replicate (n + 1) (e.monitor.base.status jobId) := by
  obtain ⟨address, hremovals, -, -⟩ := e.execute_removes op s
  rw [hremovals]
  constructor
  · intro hmem
    split at hmem
    next haccepting =>
      obtain ⟨name, cluster, overwrite, fileNames, hop, hcompleted⟩ := mem_removed.mp hmem
      obtain ⟨jobId, n, hsucceeds⟩ := Monitor.exists_succeeds hcompleted
      refine ⟨name, cluster, overwrite, fileNames, jobId, n, hop, hsucceeds, ?_⟩
      rw [e.execute_sprayDirectory_commands op s haccepting hop]
      exact hsucceeds.submit.2
    next => simp at hmem
  · rintro ⟨name, cluster, overwrite, fileNames, jobId, n, hop, hsucceeds, -⟩
    rw [if_pos hsucceeds.accepting]
    exact mem_removed.mpr
      ⟨name, cluster, overwrite, fileNames, hop, hsucceeds.submit.1⟩

variable {e op s}

theorem execute_removals_eq_singleton (hmem : dir ∈ (e.execute op s).did.removals) :
    (e.execute op s).did.removals = [dir] := by
  obtain ⟨address, hremovals, -, -⟩ := e.execute_removes op s
  rw [hremovals] at hmem ⊢
  split at hmem
  next haccepting =>
    rw [if_pos haccepting]
    exact removed_eq_singleton hmem
  next => simp at hmem

/-- When a directory is removed and which one, what is reported then, and that the site is left as
it was on every other outcome. -/
theorem execute_removals (e : Executor σ) (op : Operation) (s : Station σ) :
    let step := e.execute op s
    (∀ dir, dir ∈ step.did.removals ↔
      ∃ name cluster overwrite fileNames jobId n,
        op = .sprayDirectory dir name cluster overwrite fileNames true ∧
        e.monitor.Succeeds jobId (op.plan e.monitor.base fallbackAddress).command s n ∧
        step.did.commands =
          (op.plan e.monitor.base fallbackAddress).command ::
            List.replicate (n + 1) (e.monitor.base.status jobId)) ∧
    (∀ dir ∈ step.did.removals,
      step.did.removals = [dir] ∧
      step.value = .ok (.monitored (.completed .success)) ∧
      Program.exitCode step.value = 0) ∧
    ∀ {ν : Type} (view : σ → ν), Monitor.Untouched e.monitor.site view →
      (step.value ≠ .ok (.monitored (.completed .success)) →
        step.did.removals = [] ∧ view step.station.site = view s.site) ∧
      e.LeavesBut view s.site step.station.site step.did.removals := by
  obtain ⟨address, -, hvalue, hleaves⟩ := e.execute_removes op s
  refine ⟨fun dir => e.mem_execute_removals op s, fun dir hmem => ?_, fun view huntouched => ?_⟩
  · have hreport := hvalue (List.ne_nil_of_mem hmem)
    refine ⟨execute_removals_eq_singleton hmem, hreport, ?_⟩
    rw [hreport]
    rfl
  · have hleft := hleaves view huntouched
    refine ⟨fun hother => ?_, hleft⟩
    have hnone : (e.execute op s).did.removals = [] := by
      by_contra hsome
      exact hother (hvalue hsome)
    exact ⟨hnone, hleft.untouched hnone⟩

end Executing

/-! ## Rehearsals and recitals -/

/-- What is done at a rehearsal changes no files, except for removals. -/
theorem untouched_rehearsal_files : Monitor.Untouched Rehearsal.site Rehearsal.files where
  run c watch r := by
    simp only [Rehearsal.site, Rehearsal.run, Rehearsal.hang]
    repeat' split
    all_goals rfl
  pause ms watch r := by
    simp only [Rehearsal.site, Rehearsal.pause, Rehearsal.spendPause, Rehearsal.countPause]
    repeat' split
    all_goals rfl

def rehearsing : Executor Rehearsal := ⟨.rehearsing⟩

def reciting : Executor Nat := ⟨.reciting⟩

def batchSpray : Operation :=
  .sprayDirectory ⟨"/data/batch"⟩ "zzlc::batch" "mythor" true none true

theorem reciting_succeeds :
    Monitor.reciting.Succeeds "D1" (batchSpray.plan Monitor.reciting.base fallbackAddress).command
      Monitor.silence 1 := by
  refine ⟨⟨⟨rfl, by decide +kernel⟩, rfl, fun k hk => ?_⟩, fun k hk => ?_,
    .finished, by decide, by decide +kernel⟩
  · obtain rfl : k = 0 := by omega
    exact ⟨by decide +kernel, by decide +kernel⟩
  · obtain rfl | rfl : k = 0 ∨ k = 1 := by omega
    · rfl
    · rfl

/-- A job that succeeds has its directory removed; one that is not even named leaves the files. -/
theorem execute_removals_reciting :
    let step := reciting.execute batchSpray Monitor.silence
    let start : Station Rehearsal := .start (.start [] .empty) ⟨[]⟩
    (step.did.removals = [⟨"/data/batch"⟩] ∧ Program.exitCode step.value = 0) ∧
      (rehearsing.execute batchSpray start).value ≠ .ok (.monitored (.completed .success)) ∧
      (rehearsing.execute batchSpray start).station.site.files = .empty := by
  intro step start
  have hcommands :=
    (reciting.execute_sprayDirectory_commands batchSpray Monitor.silence rfl rfl).trans
      reciting_succeeds.submit.2
  obtain ⟨hiff, hreport, -⟩ := execute_removals reciting batchSpray Monitor.silence
  obtain ⟨hremovals, -, hexit⟩ := hreport ⟨"/data/batch"⟩
    ((hiff _).mpr ⟨_, _, _, _, "D1", 1, rfl, reciting_succeeds, hcommands⟩)
  have hunnamed :
      (rehearsing.execute batchSpray start).value ≠ .ok (.monitored (.completed .success)) := by
    decide +kernel
  obtain ⟨-, -, hleaves⟩ := execute_removals rehearsing batchSpray start
  obtain ⟨-, hfiles⟩ := (hleaves _ untouched_rehearsal_files).1 hunnamed
  exact ⟨⟨hremovals, hexit⟩, hunnamed, hfiles⟩

end Executor

end SprayWatch
