import SprayWatch.Proofs.PoolTasks

/-!
# Workers who go on by themselves

`Pool.run` lets the workers go on for a number of steps: a task that may end does, and otherwise the
next one begins.  That is one of the ways in which they can move: each of its steps is one move of a
worker, or two where a task ends and its worker lets go of it at once.
-/

namespace SprayWatch.Pool

variable {workers i : Nat} {h : History} {s t : State} {es : List Event}

namespace State

/-- No worker is about to let go of a task. -/
def Handsfree (s : State) : Prop := ∀ i w : Nat, s.crew[w]? ≠ some (.closing i)

namespace Follows

variable (hs : s.Follows h)
include hs

/-- When no worker is idle, as many tasks have begun and not ended as there are workers. -/
theorem length_crew_le_busy (hfree : s.Handsfree) (hnext : s.pool.next? = some i)
    (hidle : ∀ w : Nat, s.crew[w]? ≠ some .idle) : s.crew.length ≤ s.pool.busy := by
  have hrunning {w : Nat} {worker : Worker} (hw : s.crew[w]? = some worker) :
      ∃ j, worker = .running j := by
    cases worker with
    | idle => exact absurd hw (hidle w)
    | running j => exact ⟨j, rfl⟩
    | closing j => exact absurd hw (hfree j w)
    | gone =>
        have hall := (hs.left (hs.posted.gone_iff.mp hw)).2
        obtain ⟨rfl, hlt⟩ := hs.next?_eq_some_iff.mp hnext
        omega
  -- every worker runs a task of its own, and each of these has begun and not ended
  let tasks := s.crew.map fun worker => worker.task?.getD 0
  have htask {w j : Nat} (hj : tasks[w]? = some j) : s.crew[w]? = some (.running j) := by
    obtain ⟨worker, hw, rfl⟩ := Option.map_eq_some_iff.mp (List.getElem?_map.symm.trans hj)
    obtain ⟨k, rfl⟩ := hrunning hw
    exact hw
  have hnodup : tasks.Nodup := by
    rw [List.nodup_iff_getElem?_ne_getElem?]
    intro w w' hlt hw' heq
    have hj := List.getElem?_eq_getElem hw'
    have hsame := hs.posted.alone (i := tasks[w']) (by rw [htask (heq.trans hj)]; rfl)
      (by rw [htask hj]; rfl)
    omega
  have hbusy : tasks ⊆ s.pool.slots.findIdxs (isAt .begun) := by
    intro j hj
    obtain ⟨w, hw⟩ := List.mem_iff_getElem?.mp hj
    obtain ⟨hbegun, hended⟩ := hs.posted.running_iff.mp ⟨w, htask hw⟩
    obtain ⟨task, -, hslot⟩ := hs.slot?_of_mem_begun hbegun
    obtain ⟨hlt, hget⟩ := List.getElem?_eq_some_iff.mp hslot
    rw [List.mem_findIdxs_iff_pos_getElem hlt, hget]
    simp [isAt, History.slot, History.stage, hbegun, hended]
  calc s.crew.length = tasks.length := (List.length_map ..).symm
    _ ≤ (s.pool.slots.findIdxs (isAt .begun)).length := (hnodup.subperm hbusy).length_le
    _ = s.pool.busy := List.length_findIdxs

theorem exists_running {slot : Slot} (hslot : s.pool.slot? i = some slot)
    (hmayEnd : s.pool.mayEnd slot = true) : ∃ w : Nat, s.crew[w]? = some (.running i) := by
  rw [hs.slot_eq] at hslot
  obtain ⟨task, -, rfl⟩ := Option.map_eq_some_iff.mp hslot
  have hstage : h.stage i = .begun := by
    simp only [mayEnd, isAt, History.slot, Bool.and_eq_true, beq_iff_eq] at hmayEnd
    exact hmayEnd.1
  rw [hs.posted.running_iff]
  unfold History.stage at hstage
  grind

theorem exists_idle (hfree : s.Handsfree) (hnext : s.pool.next? = some i)
    (hbusy : s.pool.busy < s.crew.length) : ∃ w : Nat, s.crew[w]? = some .idle := by
  by_contra hnone
  have hle := hs.length_crew_le_busy hfree hnext fun w hw => hnone ⟨w, hw⟩
  omega

end Follows

end State

theorem Run.workers_eq (hrun : Run workers es s) : s.pool.workers = max workers 1 := by
  induction hrun with
  | start => rfl
  | move _ hmove ih =>
      rw [← ih]
      cases hmove with
      | submits task _ => unfold submit; split <;> rfl
      | waits _ _ =>
          unfold State.wait take
          repeat' split
          all_goals rfl
      | _ => rfl

/-- The workers go on from a run and bring the pool to where it is, with these records. -/
structure WorksTo (workers : Nat) (es : List Event) (pool : Pool) (records : List Log.Record)
    (more : List Event) (t : State) : Prop where
  run : Run workers (es ++ more) t
  handsfree : t.Handsfree
  pool_eq : t.pool = pool
  records_eq : more.flatMap Event.records = records
  isWorkers : ∀ e ∈ more, e.isWorkers = true

theorem WorksTo.trans {pool : Pool} {records : List Log.Record} {more last : List Event}
    {n : Nat} {u : State} (hfirst : WorksTo workers es pool records more t)
    (hrest : WorksTo workers (es ++ more) (t.pool.run n).1 (t.pool.run n).2 last u) :
    WorksTo workers es (pool.run n).1 (records ++ (pool.run n).2) (more ++ last) u := by
  obtain ⟨hrun, hfree, rfl, rfl, hworkers⟩ := hfirst
  refine ⟨by simpa using hrest.run, hrest.handsfree, hrest.pool_eq, ?_, fun e he => ?_⟩
  · rw [List.flatMap_append, hrest.records_eq]
  · exact (List.mem_append.mp he).elim (hworkers e) (hrest.isWorkers e)

theorem Run.works_begin? (hrun : Run workers es s) (hfree : s.Handsfree) {pool : Pool}
    (hbegin : s.pool.begin? = some pool) : ∃ more t, WorksTo workers es pool [] more t := by
  rw [begin?_eq] at hbegin
  split at hbegin
  · rename_i hbusy
    obtain ⟨i, hnext, rfl⟩ := Option.map_eq_some_iff.mp hbegin
    rw [hrun.workers_eq, ← hrun.length_crew] at hbusy
    obtain ⟨w, hw⟩ := hrun.follows.exists_idle hfree hnext hbusy
    refine ⟨[.begins i], _, hrun.move (.begins hw hnext), fun j v hv => ?_, rfl, rfl,
      by simp [Event.isWorkers]⟩
    rw [List.getElem?_set] at hv
    have hother := hfree j v
    grind
  · cases hbegin

/-- A task that may end does, and its worker lets go of it at once. -/
theorem Run.works_end? (hrun : Run workers es s) (hfree : s.Handsfree) {pool : Pool}
    {records : List Log.Record} (hend : s.pool.end? = some (pool, records)) :
    ∃ more t, WorksTo workers es pool records more t := by
  have hs := hrun.follows
  obtain ⟨i, hfind, slot, hslot, hended⟩ : ∃ i, s.pool.slots.findIdx? s.pool.mayEnd = some i ∧
      ∃ slot, s.pool.slot? i = some slot ∧
        (s.pool.setStage i .ended, recordsOf slot) = (pool, records) := by
    simpa [end?, Option.bind_eq_some_iff] using hend
  obtain ⟨rfl, rfl⟩ := Prod.mk.inj hended
  obtain ⟨hlt, hmayEnd, -⟩ := List.findIdx?_eq_some_iff_getElem.mp hfind
  obtain rfl : s.pool.slots[i] = slot :=
    Option.some.inj ((List.getElem?_eq_getElem hlt).symm.trans hslot)
  obtain ⟨w, hw⟩ := hs.exists_running hslot hmayEnd
  have hwlt : w < s.crew.length := (List.getElem?_eq_some_iff.mp hw).1
  have hreleased : (s.pool.setStage i .ended).slot? i =
      some { s.pool.slots[i] with stage := .ended } := by
    simp [slot?, setStage, List.getElem?_eq_getElem hlt]
  have hends := hrun.move (.ends hw hslot hmayEnd)
  have hreleases := hends.move (@Move.releases _ w i { s.pool.slots[i] with stage := .ended }
    (List.getElem?_set_self hwlt) hreleased)
  rw [List.append_assoc] at hreleases
  refine ⟨_, _, hreleases, fun j v hv => ?_, rfl, ?_, by simp [Event.isWorkers]⟩
  · have hother := hfree j v
    simp only [List.set_set, List.getElem?_set] at hv
    grind
  · simp [Event.records, recordsOf]

/-- What the workers do by themselves is a run of moves that are theirs alone. -/
theorem Run.works_run (n : Nat) (hrun : Run workers es s) (hfree : s.Handsfree) :
    ∃ more t, WorksTo workers es (s.pool.run n).1 (s.pool.run n).2 more t := by
  induction n generalizing es s with
  | zero => exact ⟨[], s, by simpa using hrun, hfree, rfl, rfl, by simp⟩
  | succ n ih =>
      rw [Pool.run]
      cases hend : s.pool.end? with
      | some step =>
          obtain ⟨more, t, hstep⟩ := hrun.works_end? hfree hend
          obtain ⟨rest, u, hrest⟩ := ih hstep.run hstep.handsfree
          exact ⟨_, u, hstep.trans hrest⟩
      | none =>
          cases hbegin : s.pool.begin? with
          | some pool =>
              obtain ⟨more, t, hstep⟩ := hrun.works_begin? hfree hbegin
              obtain ⟨rest, u, hrest⟩ := ih hstep.run hstep.handsfree
              exact ⟨_, u, hstep.trans hrest⟩
          | none => exact ⟨[], s, by simpa using hrun, hfree, rfl, rfl, by simp⟩

theorem Run.works_settle (hrun : Run workers es s) (hfree : s.Handsfree) :
    ∃ more t, WorksTo workers es s.pool.settle.1 s.pool.settle.2 more t :=
  hrun.works_run _ hfree

end SprayWatch.Pool
