import Mathlib.Data.List.Forall2
import SprayWatch.Log.Moment
import SprayWatch.Proofs.Executions
import SprayWatch.Rehearsal

/-!
# Passwords

Two commands are alike when they differ at most in the passwords that they give.  Alike commands are
shown in the same way and ask for the same action, so a site that goes by no more than that answers
them alike.  Whatever an executor then reports, logs and waits for is the same for alike base
commands, and the commands that it runs differ only in what they take over from the base.
-/

namespace SprayWatch

namespace Command

/-- Are two arguments equal, or do both of them give a password? -/
inductive ArgAlike : String → String → Prop
  | same (a : String) : ArgAlike a a
  | password (v w : String) : ArgAlike ("password=" ++ v) ("password=" ++ w)

/-- Do two commands differ at most in the passwords that they give? -/
structure Alike (c d : Command) : Prop where
  executable_eq : c.executable = d.executable
  args : List.Forall₂ ArgAlike c.args d.args

theorem argValue?_password (v : String) :
    argValue? "password" ("password=" ++ v) = some v := by
  simp [argValue?]

theorem argValue?_action_of_password (v : String) :
    argValue? "action" ("password=" ++ v) = none := by
  simp [argValue?]

theorem ArgAlike.showArg_eq {a b : String} (h : ArgAlike a b) : showArg a = showArg b := by
  cases h with
  | same a => rfl
  | password v w => simp [showArg, argValue?_password]

theorem ArgAlike.action_eq {a b : String} (h : ArgAlike a b) :
    argValue? "action" a = argValue? "action" b := by
  cases h with
  | same a => rfl
  | password v w => rw [argValue?_action_of_password, argValue?_action_of_password]

theorem map_showArg_eq {as bs : List String} (h : List.Forall₂ ArgAlike as bs) :
    as.map showArg = bs.map showArg := by
  induction h with
  | nil => rfl
  | cons hargs _ ih => rw [List.map_cons, List.map_cons, hargs.showArg_eq, ih]

theorem findSome?_action_eq {as bs : List String} (h : List.Forall₂ ArgAlike as bs) :
    as.findSome? (argValue? "action") = bs.findSome? (argValue? "action") := by
  induction h with
  | nil => rfl
  | cons hargs _ ih => rw [List.findSome?_cons, List.findSome?_cons, hargs.action_eq, ih]

namespace Alike

variable {c d : Command}

theorem display_eq (h : c.Alike d) : c.display = d.display := by
  have hspaced : ∀ args : List String,
      args.map (fun a => " " ++ showArg a) = (args.map showArg).map (" " ++ ·) := by
    intro args
    rw [List.map_map]
    rfl
  rw [display, display, h.executable_eq, hspaced, hspaced, map_showArg_eq h.args]

theorem action?_eq (h : c.Alike d) : c.action? = d.action? := findSome?_action_eq h.args

theorem withArgs (h : c.Alike d) (args : List String) :
    (c.withArgs args).Alike (d.withArgs args) := by
  refine ⟨h.executable_eq, List.rel_append h.args ?_⟩
  exact List.forall₂_same.mpr fun a _ => .same a

end Alike

/-! ## Commands made from a base -/

/-- Are two commands made from two bases by adding the same arguments? -/
def MadeAlike (base base' c c' : Command) : Prop :=
  ∃ args, c = base.withArgs args ∧ c' = base'.withArgs args

namespace MadeAlike

variable (base base' : Command)

theorem withArgs (args : List String) :
    MadeAlike base base' (base.withArgs args) (base'.withArgs args) :=
  ⟨args, rfl, rfl⟩

theorem arg {c c' : Command} (h : MadeAlike base base' c c') (a : String) :
    MadeAlike base base' (c.arg a) (c'.arg a) := by
  obtain ⟨args, rfl, rfl⟩ := h
  refine ⟨args ++ [a], ?_, ?_⟩
  · simp [Command.arg, Command.withArgs]
  · simp [Command.arg, Command.withArgs]

theorem refl : MadeAlike base base' base base' :=
  ⟨[], by simp [Command.withArgs], by simp [Command.withArgs]⟩

theorem query (jobId : String) :
    MadeAlike base base' (base.query jobId) (base'.query jobId) := by
  unfold Command.query
  split
  · exact refl base base'
  · exact (refl base base').arg _ _ _

theorem list (mask : String) : MadeAlike base base' (base.list mask) (base'.list mask) :=
  ((refl base base').arg _ _ _).arg _ _ _

theorem plan (op : Operation) (address : String) :
    MadeAlike base base' (op.plan base address).command (op.plan base' address).command := by
  cases op with
  | list mask => exact list base base' mask
  | poll name => exact list base base' name
  | _ => exact withArgs base base' _

end MadeAlike

theorem MadeAlike.alike {base base' c c' : Command} (h : MadeAlike base base' c c')
    (hbase : base.Alike base') : c.Alike c' := by
  obtain ⟨args, rfl, rfl⟩ := h
  exact hbase.withArgs args

end Command

/-! ## Sites that do not see passwords -/

/-- What a site answers goes by the action of a command and by how the command is shown, and of two
states that count as the same it makes no difference which one the site is in. -/
structure Site.GoesByShown {σ : Type} (site : Site σ) (same : σ → σ → Prop) : Prop where
  run {c d : Command} (watch : Watch) {s t : σ} :
    c.action? = d.action? → c.display = d.display → same s t →
      (site.run c watch s).1 = (site.run d watch t).1 ∧
        same (site.run c watch s).2 (site.run d watch t).2
  pause (ms : Nat) (watch : Watch) {s t : σ} :
    same s t →
      (site.pause ms watch s).1 = (site.pause ms watch t).1 ∧
        same (site.pause ms watch s).2 (site.pause ms watch t).2
  clock_eq {s t : σ} : same s t → site.clock s = site.clock t
  remove (dir : Path) {s t : σ} :
    same s t →
      (site.remove dir s).1 = (site.remove dir t).1 ∧
        same (site.remove dir s).2 (site.remove dir t).2
  localAddress_eq {s t : σ} : same s t → site.localAddress s = site.localAddress t

theorem Rehearsal.goesByShown : Rehearsal.site.GoesByShown Eq where
  run := by
    rintro c d watch s _ haction - rfl
    have hrun : Rehearsal.run c watch s = Rehearsal.run d watch s := by
      rw [Rehearsal.run, Rehearsal.run, haction]
    exact ⟨congrArg Prod.fst hrun, congrArg Prod.snd hrun⟩
  pause := by
    rintro ms watch s _ rfl
    exact ⟨rfl, rfl⟩
  clock_eq := by
    rintro s _ rfl
    rfl
  remove := by
    rintro dir s _ rfl
    exact ⟨rfl, rfl⟩
  localAddress_eq := by
    rintro s _ rfl
    rfl

/-! ## What is done with either base -/

/-- Are two entries the same, or do they run commands that were made alike from two bases? -/
inductive Entry.Alike (base base' : Command) : Entry → Entry → Prop
  | ran {c c' : Command} (hmade : Command.MadeAlike base base' c c') :
      Entry.Alike base base' (.ran c) (.ran c')
  | waited (ms : Nat) : Entry.Alike base base' (.waited ms) (.waited ms)
  | logged (r : Log.Record) : Entry.Alike base base' (.logged r) (.logged r)
  | removal (dir : Path) : Entry.Alike base base' (.removal dir) (.removal dir)

namespace Transcript

/-- The lines that the records of a transcript print under a threshold, when they are logged at
some moments. -/
def printed (threshold : Log.Priority) (moments : Nat → Log.Moment) (t : Transcript) :
    List String :=
  t.records.zipIdx.filterMap fun (r, n) =>
    if r.priority.reaches threshold then some (r.line (moments n).text) else none

variable {base base' : Command} {t u : Transcript}

/-- What an entry tells, unless it is a command, is the same for alike transcripts. -/
theorem filterMap_eq_of_alike {α : Type} {tells : Entry → Option α}
    (htells : ∀ c c', tells (.ran c) = tells (.ran c'))
    (h : List.Forall₂ (Entry.Alike base base') t u) : t.filterMap tells = u.filterMap tells := by
  induction h with
  | nil => rfl
  | cons hentries _ ih =>
      cases hentries with
      | @ran c c' _ => rw [List.filterMap_cons, List.filterMap_cons, htells c c', ih]
      | _ => rw [List.filterMap_cons, List.filterMap_cons, ih]

theorem commands_of_alike (h : List.Forall₂ (Entry.Alike base base') t u) :
    List.Forall₂ (Command.MadeAlike base base') t.commands u.commands := by
  induction h with
  | nil => exact .nil
  | cons hentries _ ih =>
      cases hentries with
      | ran hmade => exact .cons hmade ih
      | _ => exact ih

end Transcript

namespace Comparison

variable {σ : Type} {same : σ → σ → Prop} {base base' : Command}

/-- Stations match that differ only in the site, and there not in what counts. -/
def besidePasswords (same : σ → σ → Prop) (base base' : Command) : Comparison σ σ where
  stations s t := ∃ site, same s.site site ∧ t = { s with site := site }
  dids := List.Forall₂ (Entry.Alike base base')
  commands := Command.MadeAlike base base'
  dids_nil := .nil
  dids_append hfirst hlater := List.rel_append hfirst hlater
  dids_logged := by
    rintro s _ rs ⟨site, -, rfl⟩
    refine List.forall₂_same.mpr fun entry hmem => ?_
    obtain ⟨r, -, rfl⟩ := List.mem_map.mp hmem
    exact .logged r
  accepting_eq := by
    rintro s _ ⟨site, -, rfl⟩
    rfl
  current_eq := by
    rintro s _ ⟨site, -, rfl⟩
    rfl

section Sites

variable {site : Site σ} (hsite : site.GoesByShown same) (hbase : base.Alike base')
include hsite hbase

theorem sites_besidePasswords : (besidePasswords same base base').Sites site site where
  current := by
    rintro s _ f ⟨there, hsame, rfl⟩
    exact ⟨there, hsame, rfl⟩
  single := by
    rintro s _ f ⟨there, hsame, rfl⟩
    exact ⟨there, hsame, rfl⟩
  single_eq := by
    rintro s _ ⟨there, -, rfl⟩
    rfl
  draws_eq := by
    rintro s _ ⟨there, -, rfl⟩
    rfl
  ticks_eq := by
    rintro s _ ⟨there, -, rfl⟩
    rfl
  draws := by
    rintro s _ draws ⟨there, hsame, rfl⟩
    exact ⟨there, hsame, rfl⟩
  ticks := by
    rintro s _ ticks ⟨there, hsame, rfl⟩
    exact ⟨there, hsame, rfl⟩
  run := by
    rintro c c' watch s _ hmade ⟨there, hsame, rfl⟩
    have halike := hmade.alike hbase
    obtain ⟨hcourse, hafter⟩ := hsite.run watch halike.action?_eq halike.display_eq hsame
    exact ⟨hcourse, _, hafter, rfl⟩
  pause := by
    rintro ms watch s _ ⟨there, hsame, rfl⟩
    obtain ⟨hcourse, hafter⟩ := hsite.pause ms watch hsame
    exact ⟨hcourse, _, hafter, rfl⟩
  clock_eq := by
    rintro s _ ⟨there, hsame, rfl⟩
    exact hsite.clock_eq hsame
  remove := by
    rintro dir s _ ⟨there, hsame, rfl⟩
    obtain ⟨hresult, hafter⟩ := hsite.remove dir hsame
    exact ⟨hresult, _, hafter, rfl⟩
  localAddress_eq := by
    rintro s _ ⟨there, hsame, rfl⟩
    exact hsite.localAddress_eq hsame
  ran hmade := .cons (.ran hmade) .nil
  waited ms := .cons (.waited ms) .nil
  removal dir := .cons (.removal dir) .nil

theorem executors_besidePasswords (pollCeiling maxWait : Nat) :
    (besidePasswords same base base').Executors ⟨⟨site, base, pollCeiling, maxWait⟩⟩
      ⟨⟨site, base', pollCeiling, maxWait⟩⟩ := by
  have hsites := sites_besidePasswords hsite hbase
  refine hsites.executors (hsites.monitors rfl rfl ?_ ?_) ?_
  · exact fun jobId action => (Command.MadeAlike.query base base' jobId).arg _ _ action
  · exact fun mask => Command.MadeAlike.list base base' mask
  · exact fun op address => Command.MadeAlike.plan base base' op address

end Sites

end Comparison

namespace Executor

variable {σ : Type}

/-- Executors whose base commands differ only in passwords carry out an operation alike, at a site
that goes by what commands show: they report the same, wait for the same times, log and print the
same, remove the same and show the same plan.  Their commands are the base with the same arguments
added. -/
theorem execute_hides_passwords {site : Site σ} {same : σ → σ → Prop}
    (hsite : site.GoesByShown same) {base base' : Command} (hbase : base.Alike base')
    (pollCeiling maxWait : Nat) (op : Operation) (s : Station σ) {there : σ}
    (hsame : same s.site there) :
    let e : Executor σ := ⟨⟨site, base, pollCeiling, maxWait⟩⟩
    let e' : Executor σ := ⟨⟨site, base', pollCeiling, maxWait⟩⟩
    let x := e.execute op s
    let y := e'.execute op { s with site := there }
    let p := (e.plan op s).value
    let p' := (e'.plan op { s with site := there }).value
    x.value = y.value ∧
    x.did.waits = y.did.waits ∧
    x.did.removals = y.did.removals ∧
    x.did.records = y.did.records ∧
    (∀ threshold moments, x.did.printed threshold moments = y.did.printed threshold moments) ∧
    (p.command.display = p'.command.display ∧ p.execution = p'.execution) ∧
    List.Forall₂ (Command.MadeAlike base base') x.did.commands y.did.commands ∧
    List.Forall₂ Command.Alike x.did.commands y.did.commands := by
  intro e e' x y p p'
  have hexecutors := Comparison.executors_besidePasswords hsite hbase pollCeiling maxWait
  obtain ⟨hvalue, hdid, -⟩ := hexecutors.execute op s _ ⟨there, hsame, rfl⟩
  obtain ⟨hplans, -, -⟩ := hexecutors.plan op s _ ⟨there, hsame, rfl⟩
  have hrecords : x.did.records = y.did.records :=
    Transcript.filterMap_eq_of_alike (fun _ _ => rfl) hdid
  have hcommands := Transcript.commands_of_alike hdid
  refine ⟨hvalue, Transcript.filterMap_eq_of_alike (fun _ _ => rfl) hdid,
    Transcript.filterMap_eq_of_alike (fun _ _ => rfl) hdid, hrecords, ?_,
    ⟨(hplans.command.alike hbase).display_eq, hplans.execution⟩, hcommands,
    hcommands.imp fun _ _ hmade => hmade.alike hbase⟩
  intro threshold moments
  rw [Transcript.printed, Transcript.printed, hrecords]

theorem execute_hides_passwords_rehearsing :
    let e (password : String) : Executor Rehearsal :=
      ⟨⟨Rehearsal.site, ⟨⟨"/bin/dfuplus"⟩, ["server=s", "password=" ++ password]⟩, 1000, 5000⟩⟩
    let s : Station Rehearsal :=
      .start
        (.start [("remove", [⟨false, ["Deleted File zz"], false, .exited .finished⟩])] .empty)
        ⟨[]⟩
    (Rehearsal.site.GoesByShown Eq ∧ (e "old").monitor.base.Alike (e "new").monitor.base) ∧
    ((e "old").execute (.delete "zz") s).value = .ok (.deletion .deleted) ∧
    ((e "new").execute (.delete "zz") s).value = .ok (.deletion .deleted) ∧
    ((e "old").execute (.delete "zz") s).did.records =
      ((e "new").execute (.delete "zz") s).did.records ∧
    List.Forall₂ Command.Alike ((e "old").execute (.delete "zz") s).did.commands
      ((e "new").execute (.delete "zz") s).did.commands := by
  intro e s
  have hbase : (e "old").monitor.base.Alike (e "new").monitor.base :=
    ⟨rfl, .cons (.same _) (.cons (.password "old" "new") .nil)⟩
  have hdeleted : ((e "old").execute (.delete "zz") s).value = .ok (.deletion .deleted) := by
    decide +kernel
  obtain ⟨hvalue, -, -, hrecords, -, -, -, hcommands⟩ :=
    execute_hides_passwords Rehearsal.goesByShown hbase 1000 5000 (.delete "zz") s rfl
  exact ⟨⟨Rehearsal.goesByShown, hbase⟩, hdeleted, hvalue ▸ hdeleted, hrecords, hcommands⟩

end Executor

end SprayWatch
